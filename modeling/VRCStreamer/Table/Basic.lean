import Mathlib.Data.List.Nodup
import Mathlib.Data.List.Dedup
import Mathlib.Algebra.GroupWithZero.Nat
import Mathlib.Algebra.BigOperators.Group.List.Basic

/-!
# Finite tables

A finite map with at most one entry for each key, as a list that carries this fact.
The operations are those of a hash map that programs use most: lookup, insertion and
retaining a rewritten part of the entries. `total` adds up a size of the values; the
lemmas say how each operation changes it.
-/

namespace VRCStreamer

structure Table (κ α : Type*) where
  entries : List (κ × α)
  nodup : (entries.map Prod.fst).Nodup

namespace Table

variable {κ α : Type*}

def empty : Table κ α := ⟨[], List.nodup_nil⟩

def keys (t : Table κ α) : List κ := t.entries.map Prod.fst

/-- The sum of a size over all values. -/
def total (size : α → Nat) (t : Table κ α) : Nat := (t.entries.map (fun e => size e.2)).sum

@[simp] theorem total_empty (size : α → Nat) : (empty : Table κ α).total size = 0 := rfl

theorem sublist_retain (f : κ → α → Option α) (entries : List (κ × α)) :
    ((entries.filterMap (fun e => (f e.1 e.2).map (e.1, ·))).map Prod.fst).Sublist
      (entries.map Prod.fst) := by
  induction entries with
  | nil => exact List.Sublist.refl _
  | cons e entries ih =>
    cases h : f e.1 e.2 with
    | none => simpa [h] using ih.cons e.1
    | some a => simpa [h] using ih.cons_cons e.1

/-- Keep the entries for which `f` returns a value, with that value. -/
def retain (f : κ → α → Option α) (t : Table κ α) : Table κ α where
  entries := t.entries.filterMap (fun e => (f e.1 e.2).map (e.1, ·))
  nodup := t.nodup.sublist (sublist_retain f t.entries)

/-- Retaining values that do not grow does not raise the total. -/
theorem total_retain_le (size : α → Nat) (f : κ → α → Option α) (t : Table κ α)
    (h : ∀ key a b, f key a = some b → size b ≤ size a) :
    (t.retain f).total size ≤ t.total size := by
  simp only [total, retain]
  induction t.entries with
  | nil => exact Nat.le_refl _
  | cons e entries ih =>
    cases hf : f e.1 e.2 with
    | none =>
      rw [List.filterMap_cons_none (by simp [hf]), List.map_cons, List.sum_cons]
      omega
    | some b =>
      have := h e.1 e.2 b hf
      rw [List.filterMap_cons_some (by simp [hf]; rfl), List.map_cons, List.sum_cons,
        List.map_cons, List.sum_cons]
      exact Nat.add_le_add this ih

variable [DecidableEq κ]

/-- The value at a key. -/
def get? (t : Table κ α) (key : κ) : Option α :=
  (t.entries.find? (fun e => e.1 = key)).map Prod.snd

/-- Put a value at a key, replacing the one there. -/
def insert (t : Table κ α) (key : κ) (a : α) : Table κ α where
  entries := (key, a) :: t.entries.filter (fun e => e.1 ≠ key)
  nodup := by
    rw [List.map_cons, List.nodup_cons]
    refine ⟨?_, t.nodup.sublist (List.filter_sublist.map _)⟩
    intro hmem
    obtain ⟨e, he, heq⟩ := List.mem_map.mp hmem
    simpa [heq] using (List.mem_filter.mp he).2

@[simp] theorem get?_empty (key : κ) : (empty : Table κ α).get? key = none := rfl

theorem mem_entries_iff {t : Table κ α} {key : κ} {a : α} :
    (key, a) ∈ t.entries ↔ t.get? key = some a := by
  obtain ⟨entries, nodup⟩ := t
  simp only [get?]
  induction entries with
  | nil => simp
  | cons e entries ih =>
    rw [List.map_cons, List.nodup_cons] at nodup
    by_cases hkey : e.1 = key
    · have hnot : ∀ b, (key, b) ∉ entries := by
        intro b hb
        exact nodup.1 (hkey ▸ List.mem_map_of_mem hb)
      simp [hkey, hnot, Prod.ext_iff, eq_comm]
    · simp only [List.mem_cons, Prod.ext_iff, Ne.symm hkey, false_and, false_or]
      rw [ih nodup.2, List.find?_cons_of_neg (by simpa using hkey)]

@[simp] theorem get?_insert (t : Table κ α) (key key' : κ) (a : α) :
    (t.insert key a).get? key' = if key = key' then some a else t.get? key' := by
  simp only [get?, insert]
  by_cases h : key = key'
  · subst h
    simp
  · rw [if_neg h, List.find?_cons_of_neg (by simpa using h)]
    congr 1
    rw [List.find?_filter]
    congr 1
    funext e
    by_cases he : e.1 = key' <;> simp [he, Ne.symm h]

@[simp] theorem get?_retain (f : κ → α → Option α) (t : Table κ α) (key : κ) :
    (t.retain f).get? key = (t.get? key).bind (f key) := by
  cases h : t.get? key with
  | none =>
    rw [Option.bind_none]
    cases h' : (t.retain f).get? key with
    | none => rfl
    | some a =>
      obtain ⟨e, he, heq⟩ := List.mem_filterMap.mp (mem_entries_iff.mpr h')
      obtain ⟨b, hb, hpair⟩ := Option.map_eq_some_iff.mp heq
      obtain ⟨rfl, rfl⟩ := Prod.mk.inj hpair
      have : t.get? e.1 = some e.2 := mem_entries_iff.mp he
      rw [h] at this
      cases this
  | some a =>
    rw [Option.bind_some]
    have hmem := mem_entries_iff.mpr h
    cases hf : f key a with
    | some b =>
      apply mem_entries_iff.mp
      exact List.mem_filterMap.mpr ⟨(key, a), hmem, by simp [hf]⟩
    | none =>
      cases h' : (t.retain f).get? key with
      | none => rfl
      | some b =>
        obtain ⟨e, he, heq⟩ := List.mem_filterMap.mp (mem_entries_iff.mpr h')
        obtain ⟨c, hc, hpair⟩ := Option.map_eq_some_iff.mp heq
        obtain ⟨rfl, rfl⟩ := Prod.mk.inj hpair
        have : t.get? e.1 = some e.2 := mem_entries_iff.mp he
        rw [h, Option.some.injEq] at this
        rw [← this, hf] at hc
        cases hc

/-! ## Rewriting one value -/

/-- Rewrite the value at a key, if there is one. -/
def modify (f : α → α) (key : κ) (t : Table κ α) : Table κ α :=
  t.retain (fun key' a => some (if key' = key then f a else a))

@[simp] theorem get?_modify (f : α → α) (key key' : κ) (t : Table κ α) :
    (t.modify f key).get? key' = (t.get? key').map (if key' = key then f else id) := by
  rw [modify, get?_retain]
  cases t.get? key' with
  | none => rfl
  | some a =>
    rw [Option.bind_some, Option.map_some]
    split <;> rfl

/-! ## How many entries there are -/

def size (t : Table κ α) : Nat := t.entries.length

omit [DecidableEq κ] in
theorem size_retain_le (f : κ → α → Option α) (t : Table κ α) : (t.retain f).size ≤ t.size :=
  List.length_filterMap_le _ _

theorem size_modify_le (f : α → α) (key : κ) (t : Table κ α) : (t.modify f key).size ≤ t.size :=
  size_retain_le _ t

theorem size_insert_le (t : Table κ α) (key : κ) (a : α) : (t.insert key a).size ≤ t.size + 1 :=
  Nat.succ_le_succ (List.length_filter_le _ _)

/-! ## Totals -/

/-- Removing the entry at a key takes its size off the total. -/
theorem total_filter (size : α → Nat) (t : Table κ α) (key : κ) :
    ((t.entries.filter (fun e => e.1 ≠ key)).map (fun e => size e.2)).sum +
      ((t.get? key).map size).getD 0 = t.total size := by
  obtain ⟨entries, nodup⟩ := t
  simp only [get?, total]
  induction entries with
  | nil => rfl
  | cons e entries ih =>
    rw [List.map_cons, List.nodup_cons] at nodup
    by_cases hkey : e.1 = key
    · have hall : entries.filter (fun e => e.1 ≠ key) = entries := by
        apply List.filter_eq_self.mpr
        intro d hd
        have : d.1 ≠ key := fun heq => nodup.1 (hkey ▸ heq ▸ List.mem_map_of_mem hd)
        simpa using this
      rw [List.filter_cons_of_neg (by simpa using hkey), hall, List.find?_cons_of_pos
        (by simpa using hkey), List.map_cons, List.sum_cons]
      simp [Nat.add_comm]
    · rw [List.filter_cons_of_pos (by simpa using hkey), List.find?_cons_of_neg
        (by simpa using hkey), List.map_cons, List.sum_cons, List.map_cons, List.sum_cons,
        Nat.add_assoc, ih nodup.2]

theorem total_insert (size : α → Nat) (t : Table κ α) (key : κ) (a : α) :
    (t.insert key a).total size + ((t.get? key).map size).getD 0 = size a + t.total size := by
  rw [← total_filter size t key, ← Nat.add_assoc]
  rfl

end Table

end VRCStreamer
