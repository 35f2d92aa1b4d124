import VRCStreamer.Codec.Truncation

/-!
# Whole values of a stream

A reader that takes one value after the other off a stream which may break off anywhere. Readers
for lines and for blocks of values are put together from smaller ones. The values found in a part
of the stream are those whose fields the part holds to their end.
-/

namespace VRCStreamer.Codec.FieldReader

universe u

variable {α β γ : Type u}

/-! ## Readers -/

def lift (value : Option α) : FieldReader β α := fun input => value.map (·, input)

/-- The items in front of the first `stop`, which is read too. -/
def upTo [DecidableEq β] (stop : β) : FieldReader β (List β)
  | [] => none
  | b :: input =>
    if b = stop then some ([], input)
    else (upTo stop input).map fun result => (b :: result.1, result.2)

/-- Values in front of the last one, which is read too; at most so many. -/
def untilWithin (isLast : α → Bool) (read : FieldReader β α) : Nat → FieldReader β (List α)
  | 0 => lift none
  | n + 1 => do
    let value ← read
    if isLast value then pure []
    else do
      let values ← untilWithin isLast read n
      pure (value :: values)

/-- There are no more values than items. -/
def untilLast (isLast : α → Bool) (read : FieldReader β α) : FieldReader β (List α) := fun input =>
  (untilWithin isLast read input.length).run input

/-- The first item tells how to read. -/
def onHead (p : β → Bool) (yes no : FieldReader β α) : FieldReader β α
  | [] => none
  | b :: input => if p b then yes.run (b :: input) else no.run (b :: input)

/-- The first values of the input, at most so many. -/
def firstValues (read : FieldReader β α) : Nat → List β → List α
  | 0, _ => []
  | n + 1, input =>
    match read.run input with
    | none => []
    | some (a, rest) => a :: firstValues read n rest

/-- The values that the input holds to their end. -/
def wholeValues (read : FieldReader β α) (input : List β) : List α :=
  firstValues read input.length input

variable {read : FieldReader β α} {input rest field : List β} {a : α} {isLast : α → Bool}

/-! ## Stable readers -/

namespace Stable

theorem lift (value : Option α) : Stable (lift value : FieldReader β α) := by
  intro input more a rest h
  obtain ⟨b, rfl, heq⟩ := Option.map_eq_some_iff.mp h
  cases heq
  rfl

theorem upTo [DecidableEq β] (stop : β) : Stable (upTo stop) := by
  intro input more front rest h
  induction input generalizing front with
  | nil => cases h
  | cons b input ih =>
    rw [StateT.run, FieldReader.upTo] at h
    rw [List.cons_append, StateT.run, FieldReader.upTo]
    split at h
    next hstop =>
      rw [if_pos hstop]
      cases h
      rfl
    next hstop =>
      rw [if_neg hstop]
      obtain ⟨⟨front', rest'⟩, hfront, heq⟩ := Option.map_eq_some_iff.mp h
      cases heq
      have hmore : FieldReader.upTo stop (input ++ more) = some (front', rest' ++ more) :=
        ih front' hfront
      rw [hmore]
      rfl

/-- More room for values changes nothing that has been read. -/
theorem untilWithin (h : read.Stable) {n m : Nat} (hle : n ≤ m) {input more : List β}
    {values : List α} {rest : List β}
    (hread : (untilWithin isLast read n).run input = some (values, rest)) :
    (FieldReader.untilWithin isLast read m).run (input ++ more) = some (values, rest ++ more) := by
  induction n generalizing m input values with
  | zero => cases hread
  | succ n ih =>
    obtain ⟨m, rfl⟩ := Nat.exists_eq_add_of_le' (Nat.le_of_add_left_le hle)
    obtain ⟨a, middle, hfirst, hnext⟩ := run_bind_eq_some.mp hread
    refine run_bind_eq_some.mpr ⟨a, middle ++ more, h _ _ _ _ hfirst, ?_⟩
    split at hnext
    next hstop =>
      rw [if_pos hstop]
      cases hnext
      rfl
    next hstop =>
      rw [if_neg hstop]
      obtain ⟨others, last, hothers, heq⟩ := run_bind_eq_some.mp hnext
      cases heq
      exact run_bind_eq_some.mpr ⟨others, _, ih (Nat.le_of_succ_le_succ hle) hothers, rfl⟩

theorem untilLast (h : read.Stable) : (untilLast isLast read).Stable := by
  intro input more values rest hread
  apply h.untilWithin ?_ hread
  rw [List.length_append]
  exact Nat.le_add_right _ _

theorem onHead {p : β → Bool} {yes no : FieldReader β α} (hyes : yes.Stable) (hno : no.Stable) :
    (onHead p yes no).Stable := by
  intro input more a rest h
  cases input with
  | nil => cases h
  | cons b input =>
    rw [StateT.run, FieldReader.onHead] at h
    rw [List.cons_append, StateT.run, FieldReader.onHead, ← List.cons_append]
    split at h
    next hp =>
      rw [if_pos hp]
      exact hyes _ _ _ _ h
    next hp =>
      rw [if_neg hp]
      exact hno _ _ _ _ h

end Stable

/-! ## Whole fields -/

namespace Reads

theorem lift {value : Option α} (h : value = some a) :
    Reads (lift value : FieldReader β α) a [] := by
  intro rest
  rw [h]
  rfl

theorem upTo [DecidableEq β] {stop : β} {front : List β} (h : stop ∉ front) :
    (upTo stop).Reads front (front ++ [stop]) := by
  intro rest
  induction front with
  | nil => exact if_pos rfl
  | cons b front ih =>
    have hne : b ≠ stop := fun heq => h (heq ▸ List.mem_cons_self)
    have hfront : FieldReader.upTo stop (front ++ [stop] ++ rest) = some (front, rest) :=
      ih (List.not_mem_of_not_mem_cons h)
    rw [StateT.run, List.cons_append, List.cons_append, FieldReader.upTo, if_neg hne, hfront]
    rfl

theorem untilWithin {γ : Type*} {values : List γ} {value : γ → α} {fields : γ → List β} {n : Nat}
    (hn : values.length < n) (hvalues : ∀ c ∈ values, read.Reads (value c) (fields c))
    (hopen : ∀ c ∈ values, isLast (value c) = false) (hlast : read.Reads a field)
    (hstop : isLast a = true) :
    (untilWithin isLast read n).Reads (values.map value) (values.flatMap fields ++ field) := by
  induction values generalizing n with
  | nil =>
    obtain ⟨n, rfl⟩ := Nat.exists_eq_add_of_le' hn
    intro rest
    refine run_bind_eq_some.mpr ⟨a, rest, hlast rest, ?_⟩
    rw [if_pos hstop]
    rfl
  | cons c values ih =>
    obtain ⟨n, rfl⟩ := Nat.exists_eq_add_of_le' (Nat.succ_le_of_lt (Nat.zero_lt_of_lt hn))
    have hothers := ih (Nat.lt_of_succ_lt_succ hn)
      (fun d hd => hvalues d (List.mem_cons_of_mem c hd))
      (fun d hd => hopen d (List.mem_cons_of_mem c hd))
    intro rest
    rw [List.flatMap_cons, List.append_assoc, List.append_assoc]
    refine run_bind_eq_some.mpr ⟨value c, _, hvalues c List.mem_cons_self _, ?_⟩
    rw [if_neg (by simp [hopen c List.mem_cons_self])]
    refine run_bind_eq_some.mpr ⟨values.map value, rest, ?_, rfl⟩
    rw [← List.append_assoc]
    exact hothers rest

theorem length_le_length_flatMap {γ : Type*} {values : List γ} {fields : γ → List β}
    (hne : ∀ c ∈ values, fields c ≠ []) : values.length ≤ (values.flatMap fields).length := by
  induction values with
  | nil => exact Nat.zero_le _
  | cons c values ih =>
    have hpos := List.length_pos_of_ne_nil (hne c List.mem_cons_self)
    have hrest := ih fun d hd => hne d (List.mem_cons_of_mem c hd)
    rw [List.length_cons, List.flatMap_cons, List.length_append]
    omega

/-- No field is empty, so there are enough items for the values. -/
theorem untilLast {γ : Type*} {values : List γ} {value : γ → α} {fields : γ → List β}
    (hvalues : ∀ c ∈ values, read.Reads (value c) (fields c))
    (hopen : ∀ c ∈ values, isLast (value c) = false) (hlast : read.Reads a field)
    (hstop : isLast a = true) (hne : ∀ c ∈ values, fields c ≠ []) (hfield : field ≠ []) :
    (untilLast isLast read).Reads (values.map value) (values.flatMap fields ++ field) := by
  intro rest
  have hlength : values.length ≤ (values.flatMap fields).length :=
    length_le_length_flatMap hne
  refine untilWithin ?_ hvalues hopen hlast hstop rest
  rw [List.length_append, List.length_append]
  have hpos := List.length_pos_of_ne_nil hfield
  omega

theorem onHead_of_pos {p : β → Bool} {yes no : FieldReader β α} {b : β}
    (h : yes.Reads a (b :: field)) (hp : p b = true) : (onHead p yes no).Reads a (b :: field) := by
  intro rest
  exact (if_pos hp).trans (h rest)

theorem onHead_of_neg {p : β → Bool} {yes no : FieldReader β α} {b : β}
    (h : no.Reads a (b :: field)) (hp : p b = false) :
    (onHead p yes no).Reads a (b :: field) := by
  intro rest
  exact (if_neg (by simp [hp])).trans (h rest)

end Reads

/-! ## Streams that break off -/

end VRCStreamer.Codec.FieldReader
