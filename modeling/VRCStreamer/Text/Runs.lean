import Mathlib.Data.List.DropRight
import Mathlib.Data.List.Infix

/-!
# Runs

The pieces of a list between its separators. Empty pieces are left out, so that separators in a
row count as one and separators at the ends do not count.
-/

namespace VRCStreamer

variable {α : Type*}

/-- What is left of the pieces after the empty ones are gone. -/
def runs (isSeparator : α → Bool) (text : List α) : List (List α) :=
  (text.splitOnP isSeparator).filter (fun piece => !piece.isEmpty)

/-- A part of a list without separators that ends on both sides at a separator or with the list. -/
structure IsRun (isSeparator : α → Bool) (text run : List α) : Prop where
  ne_nil : run ≠ []
  solid : ∀ c ∈ run, isSeparator c = false
  maximal : ∃ front back, text = front ++ run ++ back ∧
    (∀ c, front.getLast? = some c → isSeparator c = true) ∧
    ∀ c, back.head? = some c → isSeparator c = true

variable {isSeparator : α → Bool} {c : α} {front text run : List α}

@[simp] theorem runs_nil : runs isSeparator [] = [] := by simp [runs]

theorem runs_append_separator (h : isSeparator c = true) (front rest : List α) :
    runs isSeparator (front ++ c :: rest) = runs isSeparator front ++ runs isSeparator rest := by
  rw [runs, List.splitOnP_append_cons front rest h, List.filter_append]
  rfl

theorem runs_of_solid (hne : text ≠ []) (h : ∀ c ∈ text, isSeparator c = false) :
    runs isSeparator text = [text] := by
  rw [runs, List.splitOnP_eq_singleton h]
  simp [hne]

/-- A list is solid, or a separator stands behind its first solid part. -/
theorem separators_induction (isSeparator : α → Bool) {motive : List α → Prop}
    (solid : ∀ text, (∀ c ∈ text, isSeparator c = false) → motive text)
    (cut : ∀ front c rest, (∀ c ∈ front, isSeparator c = false) → isSeparator c = true →
      motive rest → motive (front ++ c :: rest)) (text : List α) : motive text := by
  induction hlength : text.length using Nat.strong_induction_on generalizing text with
  | _ length ih =>
    have hfront : ∀ c ∈ text.takeWhile (fun c => !isSeparator c), isSeparator c = false := by
      intro c hc
      simpa using List.mem_takeWhile_imp hc
    have hsplit := List.takeWhile_append_dropWhile (p := fun c => !isSeparator c) (l := text)
    cases hrest : text.dropWhile (fun c => !isSeparator c) with
    | nil =>
      rw [hrest, List.append_nil] at hsplit
      rw [hsplit] at hfront
      exact solid text hfront
    | cons c rest =>
      have hc : isSeparator c = true := by
        have hhead :=
          List.head_dropWhile_not (fun c => !isSeparator c) (l := text) (by simp [hrest])
        simpa [hrest] using hhead
      rw [← hsplit, hrest]
      apply cut _ c rest hfront hc
      apply ih rest.length _ rest rfl
      rw [← hlength, ← hsplit, hrest, List.length_append, List.length_cons]
      omega

theorem IsRun.cons_cut (h : IsRun isSeparator text run) (hc : isSeparator c = true)
    (front : List α) : IsRun isSeparator (front ++ c :: text) run := by
  obtain ⟨before, back, rfl, hbefore, hback⟩ := h.maximal
  refine ⟨h.ne_nil, h.solid, front ++ c :: before, back, by simp, ?_, hback⟩
  intro d hd
  rw [List.getLast?_append_of_ne_nil _ (by simp)] at hd
  cases before with
  | nil =>
    obtain rfl : c = d := by simpa using hd
    exact hc
  | cons e before =>
    rw [List.getLast?_cons_cons] at hd
    exact hbefore d hd

/-- The pieces that are left are the runs. -/
theorem mem_runs_iff : run ∈ runs isSeparator text ↔ IsRun isSeparator text run := by
  constructor
  · intro h
    induction text using separators_induction isSeparator with
    | solid text hsolid =>
      obtain rfl | hne := eq_or_ne text []
      · rw [runs_nil] at h
        cases h
      · rw [runs_of_solid hne hsolid, List.mem_singleton] at h
        subst h
        exact ⟨hne, hsolid, [], [], by simp, nofun, nofun⟩
    | cut front c rest hfront hc ih =>
      rw [runs_append_separator hc, List.mem_append] at h
      obtain hfirst | hrest := h
      · obtain rfl | hne := eq_or_ne front []
        · rw [runs_nil] at hfirst
          cases hfirst
        · rw [runs_of_solid hne hfront, List.mem_singleton] at hfirst
          subst hfirst
          refine ⟨hne, hfront, [], c :: rest, by simp, nofun, ?_⟩
          rintro d ⟨⟩
          exact hc
      · exact (ih hrest).cons_cut hc front
  · rintro ⟨hne, hsolid, front, back, rfl, hfront, hback⟩
    have hrun : run ∈ runs isSeparator (run ++ back) := by
      cases back with
      | nil =>
        rw [List.append_nil, runs_of_solid hne hsolid]
        exact List.mem_singleton_self run
      | cons c back =>
        rw [runs_append_separator (hback c rfl), runs_of_solid hne hsolid]
        exact List.mem_append_left _ (List.mem_singleton_self run)
    rw [List.append_assoc]
    obtain rfl | ⟨front, c, rfl⟩ := List.eq_nil_or_concat' front
    · exact hrun
    · have hc := hfront c List.getLast?_concat
      rw [List.append_assoc, List.singleton_append, runs_append_separator hc]
      exact List.mem_append_right _ hrun

/-- One more element in front of a run goes to the run. -/
theorem runs_cons_of_solid {d : α} (hd : isSeparator d = false) (hc : isSeparator c = false)
    (rest : List α) : ∃ run runs', runs isSeparator (c :: rest) = run :: runs' ∧
      runs isSeparator (d :: c :: rest) = (d :: run) :: runs' := by
  obtain ⟨piece, pieces, hpieces⟩ :=
    List.exists_cons_of_ne_nil (List.splitOnP_ne_nil isSeparator rest)
  have hshort : (c :: rest).splitOnP isSeparator = (c :: piece) :: pieces := by
    rw [List.splitOnP_cons_eq_if_modifyHead, hc, hpieces]
    rfl
  have hlong : (d :: c :: rest).splitOnP isSeparator = (d :: c :: piece) :: pieces := by
    rw [List.splitOnP_cons_eq_if_modifyHead, hd, hshort]
    rfl
  refine ⟨c :: piece, pieces.filter (fun piece => !piece.isEmpty), ?_, ?_⟩
  · rw [runs, hshort]
    rfl
  · rw [runs, hlong]
    rfl

end VRCStreamer
