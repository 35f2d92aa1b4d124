import Mathlib.Data.List.Nodup
import Mathlib.Data.List.Perm.Basic

/-!
# Items in custody

Items are taken once each, held for a while and released. Everything that was taken is either
released or still held, and nothing is released twice.
-/

namespace VRCStreamer.Table

variable {α : Type*}

structure Custody (taken released held : List α) : Prop where
  nodup : taken.Nodup
  accounted : taken.Perm (released ++ held)

namespace Custody

variable {taken released held : List α} {a : α}

theorem nil : Custody ([] : List α) [] [] := ⟨.nil, .refl _⟩

theorem take (h : Custody taken released held) (ha : a ∉ taken) :
    Custody (taken ++ [a]) released (held ++ [a]) where
  nodup := by
    rw [List.nodup_append_comm]
    exact List.nodup_cons.mpr ⟨ha, h.nodup⟩
  accounted := by
    rw [← List.append_assoc]
    exact h.accounted.append_right [a]

theorem release (front back : List α) (h : Custody taken released (front ++ a :: back)) :
    Custody taken (released ++ [a]) (front ++ back) where
  nodup := h.nodup
  accounted := by
    refine h.accounted.trans ?_
    rw [List.append_assoc, List.singleton_append]
    exact List.Perm.append_left released List.perm_middle

theorem releaseAll (h : Custody taken released held) : Custody taken (released ++ held) [] where
  nodup := h.nodup
  accounted := by
    rw [List.append_nil]
    exact h.accounted

variable [DecidableEq α]

theorem count_eq_one (h : Custody taken released held) (ha : a ∈ taken) :
    released.count a + held.count a = 1 := by
  have hcount : taken.count a = 1 := List.count_eq_one_of_mem h.nodup ha
  rwa [h.accounted.count_eq, List.count_append] at hcount

end Custody

end VRCStreamer.Table
