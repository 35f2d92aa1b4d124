import Mathlib.Data.List.Basic

/-!
# Past-time properties of a history

`Since event keep` holds of a history when some entry was an event and every later
entry kept it. The event may look at the history before it. One rule says how the
property changes with one more entry, so a state that must agree with the history can
be related to it step by step.
-/

namespace VRCStreamer.History

variable {α : Type*}

/-- An event happened, and nothing after it failed to keep it. -/
def Since (event : List α → α → Prop) (keep : α → Prop) (history : List α) : Prop :=
  ∃ before a after, history = before ++ a :: after ∧ event before a ∧ ∀ b ∈ after, keep b

variable {event : List α → α → Prop} {keep : α → Prop}

theorem not_since_nil : ¬ Since event keep [] := by
  rintro ⟨before, a, after, h, -⟩
  simp at h

/-- A new entry is an event itself, or it keeps an earlier one. -/
theorem since_concat {history : List α} {a : α} :
    Since event keep (history ++ [a]) ↔ event history a ∨ (Since event keep history ∧ keep a) := by
  constructor
  · rintro ⟨before, b, after, h, hevent, hkeep⟩
    rcases List.eq_nil_or_concat after with rfl | ⟨after, c, rfl⟩
    · obtain ⟨rfl, hb⟩ := List.append_inj' h rfl
      obtain rfl : a = b := by simpa using hb
      exact .inl hevent
    · rw [List.concat_eq_append, ← List.cons_append, ← List.append_assoc] at h
      obtain ⟨rfl, hc⟩ := List.append_inj' h rfl
      obtain rfl : a = c := by simpa using hc
      refine .inr ⟨⟨before, b, after, rfl, hevent, ?_⟩, ?_⟩
      · intro d hd
        exact hkeep d (by simp [hd])
      · exact hkeep a (by simp)
  · rintro (hevent | ⟨⟨before, b, after, rfl, hevent, hkeep⟩, ha⟩)
    · exact ⟨history, a, [], rfl, hevent, by simp⟩
    · refine ⟨before, b, after ++ [a], by simp, hevent, ?_⟩
      intro c hc
      rcases List.mem_append.mp hc with hc | hc
      · exact hkeep c hc
      · rw [List.mem_singleton] at hc
        exact hc ▸ ha

end VRCStreamer.History
