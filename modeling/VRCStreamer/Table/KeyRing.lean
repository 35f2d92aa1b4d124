import Mathlib.Algebra.GroupWithZero.Nat
import Mathlib.Data.Fin.VecNotation
import Mathlib.Data.List.FinRange

/-!
# A ring of recent values by key

A fixed number of slots, written one after another in a circle. A value is looked up by its
key, and a slot is freed by writing a key into it that nothing else uses. A key that is written
is found until the ring has come round to its slot.
-/

namespace VRCStreamer

structure KeyRing (κ α : Type*) (n : Nat) where
  keys : Vector κ n
  values : Vector α n
  next : Fin n

namespace KeyRing

variable {κ α : Type*} {n : Nat}

theorem getElem_set_self (keys : Vector κ n) (slot : Fin n) (key : κ) :
    (keys.set slot key)[slot] = key :=
  Vector.getElem_set_self slot.isLt

theorem getElem_set_of_ne {keys : Vector κ n} {slot other : Fin n} (h : slot ≠ other) (key : κ) :
    (keys.set slot key)[other] = keys[other] :=
  Vector.getElem_set_ne slot.isLt other.isLt (Fin.val_ne_of_ne h)

variable {ring : KeyRing κ α n} {key other unused : κ} {value : α} {age : Nat} {slot : Fin n}

/-! ## Writing and freeing a slot -/

def write [NeZero n] (ring : KeyRing κ α n) (key : κ) (value : α) : KeyRing κ α n where
  keys := ring.keys.set ring.next key
  values := ring.values.set ring.next value
  next := ring.next + 1

def free (ring : KeyRing κ α n) (unused : κ) (slot : Fin n) : KeyRing κ α n :=
  { ring with keys := ring.keys.set slot unused }

/-- One slot has the key, and its value. The slot was written `age` writes ago. -/
structure Holds (ring : KeyRing κ α n) (key : κ) (value : α) (age : Nat) (slot : Fin n) : Prop where
  key_eq : ring.keys[slot] = key
  value_eq : ring.values[slot] = value
  unique : ∀ other : Fin n, ring.keys[other] = key → other = slot
  next_eq : ring.next.val = (slot.val + age) % n

theorem holds_write [NeZero n] (h : ∀ slot : Fin n, ring.keys[slot] ≠ key) :
    Holds (ring.write key value) key value 1 ring.next where
  key_eq := getElem_set_self ..
  value_eq := getElem_set_self ..
  unique other hother := by
    by_contra hne
    rw [write, getElem_set_of_ne (Ne.symm hne)] at hother
    exact h other hother
  next_eq := by rw [write, Fin.val_add, Fin.val_one', Nat.add_mod_mod]

namespace Holds

/-- The next write goes elsewhere until the ring has come round. -/
theorem next_ne (h : Holds ring key value age slot) (hpos : 0 < age) (hlt : age < n) :
    ring.next ≠ slot := by
  intro heq
  have hnext := h.next_eq
  rw [heq] at hnext
  have hslot := slot.isLt
  by_cases hwrap : slot.val + age < n
  · rw [Nat.mod_eq_of_lt hwrap] at hnext
    omega
  · rw [Nat.mod_eq_sub_mod (by omega), Nat.mod_eq_of_lt (by omega)] at hnext
    omega

theorem write [NeZero n] (h : Holds ring key value age slot) (hne : other ≠ key) (hpos : 0 < age)
    (hlt : age < n) (written : α) :
    Holds (ring.write other written) key value (age + 1) slot where
  key_eq := (getElem_set_of_ne (h.next_ne hpos hlt) _).trans h.key_eq
  value_eq := (getElem_set_of_ne (h.next_ne hpos hlt) _).trans h.value_eq
  unique elsewhere hkey := by
    by_cases hslot : ring.next = elsewhere
    · rw [← hslot, KeyRing.write, getElem_set_self] at hkey
      exact absurd hkey hne
    · rw [KeyRing.write, getElem_set_of_ne hslot] at hkey
      exact h.unique elsewhere hkey
  next_eq := by
    rw [KeyRing.write, Fin.val_add, h.next_eq, Fin.val_one', ← Nat.add_mod, Nat.add_assoc]

theorem free (h : Holds ring key value age slot) {freed : Fin n} (hfreed : ring.keys[freed] ≠ key)
    (hunused : unused ≠ key) : Holds (ring.free unused freed) key value age slot := by
  have hne : freed ≠ slot := by
    rintro rfl
    exact hfreed h.key_eq
  constructor
  · exact (getElem_set_of_ne hne _).trans h.key_eq
  · exact h.value_eq
  · intro elsewhere hkey
    by_cases hslot : freed = elsewhere
    · rw [← hslot, KeyRing.free, getElem_set_self] at hkey
      exact absurd hkey hunused
    · rw [KeyRing.free, getElem_set_of_ne hslot] at hkey
      exact h.unique elsewhere hkey
  · exact h.next_eq

end Holds

/-! ## Where the keys come from -/

/-- Every key is unused or was written. -/
def From (unused : κ) (written : List κ) (ring : KeyRing κ α n) : Prop :=
  ∀ slot : Fin n, ring.keys[slot] = unused ∨ ring.keys[slot] ∈ written

namespace From

variable {written : List κ}

theorem write [NeZero n] (h : From unused written ring) (key : κ) (value : α) :
    From unused (written ++ [key]) (ring.write key value) := by
  intro slot
  by_cases hslot : ring.next = slot
  · right
    rw [← hslot, KeyRing.write, getElem_set_self]
    simp
  · rw [KeyRing.write, getElem_set_of_ne hslot]
    exact (h slot).imp_right (List.mem_append_left _)

theorem free (h : From unused written ring) (freed : Fin n) :
    From unused written (ring.free unused freed) := by
  intro slot
  by_cases hslot : freed = slot
  · left
    rw [← hslot, KeyRing.free, getElem_set_self]
  · rw [KeyRing.free, getElem_set_of_ne hslot]
    exact h slot

/-- A new key is in no slot. -/
theorem ne_of_not_mem (h : From unused written ring) (hunused : key ≠ unused)
    (hnew : key ∉ written) (slot : Fin n) : ring.keys[slot] ≠ key := by
  rintro rfl
  exact (h slot).elim hunused hnew

end From

/-! ## Looking a key up -/

variable [DecidableEq κ]

/-- The first slot with a key. -/
def indexOf (keys : Vector κ n) (key : κ) : Option (Fin n) :=
  (List.finRange n).find? fun slot => keys[slot] = key

theorem of_indexOf_eq_some {keys : Vector κ n} {key : κ} {slot : Fin n}
    (h : indexOf keys key = some slot) : keys[slot] = key := by
  have hfound := List.find?_some h
  exact of_decide_eq_true hfound

theorem indexOf_isSome (keys : Vector κ n) (slot : Fin n) :
    (indexOf keys keys[slot]).isSome := by
  rw [indexOf, List.find?_isSome]
  exact ⟨slot, List.mem_finRange slot, decide_eq_true rfl⟩

theorem Holds.indexOf_eq (h : Holds ring key value age slot) : indexOf ring.keys key = some slot := by
  have hsome := indexOf_isSome ring.keys slot
  rw [h.key_eq] at hsome
  obtain ⟨found, hfound⟩ := Option.isSome_iff_exists.mp hsome
  rw [hfound, h.unique found (of_indexOf_eq_some hfound)]

end KeyRing

end VRCStreamer
