import Mathlib.Data.List.Infix

/-!
# Fields and truncated input

A field reader takes a value off the front of a list. It is stable when further input never
changes what it has read. Readers are put together from smaller ones, and so are the facts about
them: what a stable reader reads to the end it reads from no shorter prefix, wherever that ends.
-/

namespace VRCStreamer.Codec

universe u

abbrev FieldReader (β α : Type u) := StateT (List β) Option α

namespace FieldReader

variable {α β γ : Type u}

def item : FieldReader β β
  | [] => none
  | b :: rest => some (b, rest)

def items (n : Nat) : FieldReader β (List β) := fun input =>
  if n ≤ input.length then some (input.take n, input.drop n) else none

/-- Go on only with an accepted value. -/
def only (accepts : α → Bool) (read : FieldReader β α) : FieldReader β α := fun input =>
  (read.run input).filter fun result => accepts result.1

def times (read : FieldReader β α) : Nat → FieldReader β (List α)
  | 0 => pure []
  | n + 1 => do
    let value ← read
    let values ← times read n
    return value :: values

variable {read : FieldReader β α} {next : α → FieldReader β γ} {input rest : List β} {a : α}

theorem run_bind_of_none (h : read.run input = none) : (read >>= next).run input = none := by
  rw [StateT.run_bind, h]
  rfl

theorem run_bind_of_some (h : read.run input = some (a, rest)) :
    (read >>= next).run input = (next a).run rest := by
  rw [StateT.run_bind, h]
  rfl

theorem run_bind_eq_some {c : γ} {last : List β} :
    (read >>= next).run input = some (c, last) ↔
      ∃ a rest, read.run input = some (a, rest) ∧ (next a).run rest = some (c, last) := by
  rw [StateT.run_bind]
  constructor
  · intro h
    obtain ⟨⟨a, rest⟩, hread, hnext⟩ := Option.bind_eq_some_iff.mp h
    exact ⟨a, rest, hread, hnext⟩
  · rintro ⟨a, rest, hread, hnext⟩
    exact Option.bind_eq_some_iff.mpr ⟨(a, rest), hread, hnext⟩

theorem only_item_run (accepts : β → Bool) (b : β) (rest : List β) :
    (only accepts item).run (b :: rest) = if accepts b then some (b, rest) else none := by
  show (some (b, rest)).filter (fun result => accepts result.1) = _
  rw [Option.filter_some]

theorem item_run_eq_some {b : β} (h : item.run input = some (b, rest)) : input = b :: rest := by
  cases input with
  | nil => cases h
  | cons c input =>
    cases h
    rfl

theorem items_run_eq_some {n : Nat} {taken : List β}
    (h : (items n).run input = some (taken, rest)) : n ≤ input.length ∧ rest = input.drop n := by
  obtain ⟨hle, heq⟩ := Option.ite_none_right_eq_some.mp h
  cases heq
  exact ⟨hle, rfl⟩

/-- Where no field can be read, only none at all are. -/
theorem rest_eq_of_times {n : Nat} {values : List α} (hread : read.run input = none)
    (h : (times read n).run input = some (values, rest)) : rest = input := by
  cases n with
  | zero =>
    cases h
    rfl
  | succ n =>
    have hnone : (times read (n + 1)).run input = none := run_bind_of_none hread
    cases hnone.symm.trans h

/-! ## Stable readers -/

def Stable (read : FieldReader β α) : Prop :=
  ∀ input more a rest, read.run input = some (a, rest) →
    read.run (input ++ more) = some (a, rest ++ more)

namespace Stable

theorem pure (a : α) : Stable (pure a : FieldReader β α) := by
  rintro input more a rest ⟨⟩
  rfl

theorem bind (hread : read.Stable) (hnext : ∀ a, (next a).Stable) : (read >>= next).Stable := by
  intro input more c last h
  obtain ⟨a, rest, hfirst, hsecond⟩ := run_bind_eq_some.mp h
  apply run_bind_eq_some.mpr
  exact ⟨a, rest ++ more, hread input more a rest hfirst, hnext a rest more c last hsecond⟩

theorem item : Stable (item : FieldReader β β) := by
  rintro (_ | ⟨b, input⟩) more a rest h
  · cases h
  · cases h
    rfl

theorem items (n : Nat) : Stable (items n : FieldReader β (List β)) := by
  intro input more a rest h
  obtain ⟨hle, heq⟩ := Option.ite_none_right_eq_some.mp h
  cases heq
  have hmore : n ≤ (input ++ more).length := by
    rw [List.length_append]
    exact Nat.le_add_right_of_le hle
  refine (if_pos hmore).trans ?_
  rw [List.take_append_of_le_length hle, List.drop_append_of_le_length hle]

theorem only (hread : read.Stable) (accepts : α → Bool) : (only accepts read).Stable := by
  intro input more a rest h
  obtain ⟨hfirst, haccepts⟩ := Option.filter_eq_some_iff.mp h
  exact Option.filter_eq_some_iff.mpr ⟨hread input more a rest hfirst, haccepts⟩

theorem times (hread : read.Stable) (n : Nat) : (times read n).Stable := by
  induction n with
  | zero => exact pure []
  | succ n ih => exact hread.bind fun a => ih.bind fun as => pure (a :: as)

end Stable

/-! ## Whole fields -/

/-- The value is read off exactly these items, whatever follows them. -/
def Reads (read : FieldReader β α) (a : α) (field : List β) : Prop :=
  ∀ rest, read.run (field ++ rest) = some (a, rest)

namespace Reads

variable {field : List β}

theorem pure (a : α) : Reads (pure a : FieldReader β α) a [] := fun _ => rfl

theorem bind {c : γ} {field' : List β} (hread : read.Reads a field)
    (hnext : (next a).Reads c field') : (read >>= next).Reads c (field ++ field') := by
  intro rest
  rw [List.append_assoc, run_bind_of_some (hread (field' ++ rest))]
  exact hnext rest

theorem item (b : β) : Reads (item : FieldReader β β) b [b] := fun _ => rfl

theorem items (field : List β) : (items field.length).Reads field field := by
  intro rest
  have hle : field.length ≤ (field ++ rest).length := by
    rw [List.length_append]
    exact Nat.le_add_right _ _
  refine (if_pos hle).trans ?_
  rw [List.take_left, List.drop_left]

theorem only (hread : read.Reads a field) {accepts : α → Bool} (haccepts : accepts a = true) :
    (only accepts read).Reads a field := by
  intro rest
  exact Option.filter_eq_some_iff.mpr ⟨hread rest, haccepts⟩

theorem times {encode : α → List β} {values : List α}
    (hread : ∀ a ∈ values, read.Reads a (encode a)) :
    (times read values.length).Reads values (values.flatMap encode) := by
  induction values with
  | nil => exact pure []
  | cons a values ih =>
    have hrest : (FieldReader.times read values.length).Reads values (values.flatMap encode) :=
      ih fun b hb => hread b (List.mem_cons_of_mem a hb)
    have hvalues : (FieldReader.times read values.length >>=
        fun values => Pure.pure (a :: values)).Reads (a :: values) (values.flatMap encode ++ []) :=
      hrest.bind (pure (a :: values))
    rw [List.append_nil] at hvalues
    rw [List.flatMap_cons]
    exact (hread a List.mem_cons_self).bind hvalues

end Reads

/-- A truncated field is not read. -/
theorem Stable.run_eq_none {field part : List β} (h : read.Stable) (hreads : read.Reads a field)
    (hinit : part <+: field) (hne : part ≠ field) : read.run part = none := by
  obtain ⟨more, rfl⟩ := hinit
  cases hread : read.run part with
  | none => rfl
  | some result =>
    obtain ⟨b, rest⟩ := result
    have hwhole := hreads []
    rw [List.append_nil, h part more b rest hread] at hwhole
    obtain ⟨-, hempty⟩ := Prod.mk.inj (Option.some.inj hwhole)
    obtain ⟨-, rfl⟩ := List.append_eq_nil_iff.mp hempty
    exact absurd (List.append_nil part).symm hne

end FieldReader

end VRCStreamer.Codec
