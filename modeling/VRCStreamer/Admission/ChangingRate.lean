import VRCStreamer.Admission.TokenBucket
import VRCStreamer.Policing.Changing

/-!
# A token bucket with a rate that changes

A session meters video at the rate of the preset that it has selected last, so the calls of one
bucket come with different rates. The bucket then stands between two policers: what it lets through
keeps to the highest rate and burst, and it refuses nothing that keeps to the lowest ones.
-/

namespace VRCStreamer

open Policing

namespace TokenBucket

variable {r b : Nat} {bucket : TokenBucket} {requests : List (Request ℚ)} {call : BucketCall}
variable {rate burst now later : ℚ}

theorem capacity_le (r b : Nat) : capacity r b ≤ r * b := by
  rw [capacity]
  exact_mod_cast Nat.min_le_left _ _

/-- What a call does to the bucket. -/
inductive Called (bucket : TokenBucket) (call : BucketCall) (r b : Nat) : Bool × TokenBucket → Prop
  | off (hzero : r = 0 ∨ b = 0) : Called bucket call r b (false, bucket)
  | refused (hzero : ¬ (r = 0 ∨ b = 0)) (hless : bucket.refilled call.now r b < call.units) :
      Called bucket call r b (false, ⟨bucket.refilled call.now r b, call.now, true⟩)
  | allowed (hzero : ¬ (r = 0 ∨ b = 0)) (hunits : (call.units : ℚ) ≤ bucket.refilled call.now r b) :
      Called bucket call r b (true, ⟨bucket.refilled call.now r b - call.units, call.now, true⟩)

theorem called (bucket : TokenBucket) (call : BucketCall) (r b : Nat) :
    Called bucket call r b (bucket.allowAt call.now call.units r b) := by
  rw [allowAt]
  split
  next hzero => exact .off hzero
  next hzero =>
    dsimp only
    split
    next hless => exact .refused hzero hless
    next hless => exact .allowed hzero (not_lt.mp hless)

/-! ## Upper bounds -/

/-- The bucket holds no more than a policer would have left by now after the requests, all of
which conform. -/
structure Below (rate burst : ℚ) (bucket : TokenBucket) (requests : List (Request ℚ)) (now : ℚ) :
    Prop where
  conforms : Conforms rate burst requests
  until_now : Until requests now
  fresh : bucket.initialized = false → requests = []
  updated_le : bucket.initialized = true → bucket.updatedAt ≤ now
  level : bucket.initialized = true →
    AtMost rate burst bucket.available bucket.updatedAt requests

theorem below_new (rate burst created now : ℚ) : Below rate burst (new created) [] now where
  conforms := trivial
  until_now := until_nil
  fresh _ := rfl
  updated_le := by simp [new]
  level := by simp [new]

namespace Below

theorem mono (h : Below rate burst bucket requests now) (hle : now ≤ later) :
    Below rate burst bucket requests later :=
  { h with
    until_now := h.until_now.mono hle
    updated_le := fun hinit => (h.updated_le hinit).trans hle }

/-- The bucket when it is asked. -/
theorem refilled (h : Below rate burst bucket requests now) (hrate : 0 ≤ rate)
    (hr : (r : ℚ) ≤ rate) (hcap : (r * b : ℚ) ≤ burst) :
    AtMost rate burst (bucket.refilled now r b) now requests := by
  have hfull : capacity r b ≤ burst := (capacity_le r b).trans hcap
  rw [TokenBucket.refilled]
  cases hinit : bucket.initialized with
  | false =>
    rw [h.fresh hinit, if_neg Bool.false_ne_true]
    exact .full hfull
  | true =>
    have hle := h.updated_le hinit
    rw [if_pos rfl, max_eq_left (sub_nonneg.mpr hle)]
    exact (h.level hinit).refill hrate hle hr hfull

/-- After a call the requests stay the same; one that was let through may be counted. -/
theorem step (h : Below rate burst bucket requests call.now) (hrate : 0 ≤ rate)
    (hr : (r : ℚ) ≤ rate) (hcap : (r * b : ℚ) ≤ burst) :
    Below rate burst (bucket.allowAt call.now call.units r b).2 requests call.now ∧
      ((bucket.allowAt call.now call.units r b).1 = true →
        Below rate burst (bucket.allowAt call.now call.units r b).2 (call.request :: requests)
          call.now) := by
  have hlevel := h.refilled hrate hr hcap
  have hunits : (0 : ℚ) ≤ call.units := Nat.cast_nonneg _
  have hcalled := bucket.called call r b
  generalize bucket.allowAt call.now call.units r b = outcome at hcalled ⊢
  cases hcalled with
  | off hzero => exact ⟨h, fun hallowed => absurd hallowed Bool.false_ne_true⟩
  | refused hzero hless =>
    refine ⟨?_, fun hallowed => absurd hallowed Bool.false_ne_true⟩
    exact { h with
      fresh := fun hinit => by cases hinit
      updated_le := fun _ => le_rfl
      level := fun _ => hlevel }
  | allowed hzero hroom =>
    constructor
    · exact { h with
        fresh := fun hinit => by cases hinit
        updated_le := fun _ => le_rfl
        level := fun _ => hlevel.lose hunits }
    · intro _
      have hconforms : Conforms rate burst (call.request :: requests) :=
        h.conforms.cons (hroom.trans hlevel.level_le)
      have huntil : Until (call.request :: requests) call.now := h.until_now.cons le_rfl
      have hleft : AtMost rate burst (bucket.refilled call.now r b - call.request.units)
          call.request.time (call.request :: requests) := hlevel.take hunits
      exact {
        conforms := hconforms
        until_now := huntil
        fresh := fun hinit => by cases hinit
        updated_le := fun _ => le_rfl
        level := fun _ => hleft }

end Below

/-! ## Lower bounds -/

/-- The bucket holds what a policer would have left after the requests. -/
structure Above (rate burst : ℚ) (bucket : TokenBucket) (requests : List (Request ℚ)) (now : ℚ) :
    Prop where
  fresh : bucket.initialized = false → requests = []
  updated_le : bucket.initialized = true → bucket.updatedAt ≤ now
  level : bucket.initialized = true →
    AtLeast rate burst bucket.available bucket.updatedAt requests

namespace Above

theorem mono (h : Above rate burst bucket requests now) (hle : now ≤ later) :
    Above rate burst bucket requests later :=
  { h with updated_le := fun hinit => (h.updated_le hinit).trans hle }

theorem refilled (h : Above rate burst bucket requests now) (hrate : 0 ≤ rate)
    (hr : rate ≤ r) (hcap : burst ≤ capacity r b) :
    AtLeast rate burst (bucket.refilled now r b) now requests := by
  rw [TokenBucket.refilled]
  cases hinit : bucket.initialized with
  | false =>
    rw [h.fresh hinit, if_neg Bool.false_ne_true]
    exact .full hcap
  | true =>
    have hle := h.updated_le hinit
    rw [if_pos rfl, max_eq_left (sub_nonneg.mpr hle)]
    exact (h.level hinit).refill hrate hle hr hcap

/-- A call that conforms behind the requests so far is let through. -/
theorem step (h : Above rate burst bucket requests call.now) (hrate : 0 ≤ rate)
    (hpositive : 1 ≤ r ∧ 1 ≤ b) (hr : rate ≤ r) (hcap : burst ≤ capacity r b)
    (hfits : Conforms rate burst (call.request :: requests)) :
    (bucket.allowAt call.now call.units r b).1 = true ∧
      Above rate burst (bucket.allowAt call.now call.units r b).2 (call.request :: requests)
        call.now := by
  have hlevel := h.refilled hrate hr hcap
  have hunits : (call.units : ℚ) ≤ Policing.available rate burst requests call.now :=
    endsWithin_cons_iff.mp hfits.1
  have hcalled := bucket.called call r b
  generalize bucket.allowAt call.now call.units r b = outcome at hcalled ⊢
  cases hcalled with
  | off hzero => omega
  | refused hzero hless => exact absurd (hunits.trans hlevel.le_level) (not_le.mpr hless)
  | allowed hzero hroom =>
    have hleft : AtLeast rate burst (bucket.refilled call.now r b - call.request.units)
        call.request.time (call.request :: requests) := hlevel.take
    refine ⟨rfl, ?_⟩
    exact {
      fresh := fun hinit => by cases hinit
      updated_le := fun _ => le_rfl
      level := fun _ => hleft }

end Above

end TokenBucket

end VRCStreamer
