import VRCStreamer.Policing.Bucket

/-!
# Buckets between two policers

A bucket whose rate and burst change from call to call. What it lets through keeps to a rate and a
burst that are never exceeded, and it refuses nothing that keeps to a rate and a burst that are
always granted. Both follow from what the bucket holds, compared with what is available after the
requests.
-/

namespace VRCStreamer.Policing

variable {K : Type*} [Field K] [LinearOrder K]

/-- The bucket holds no more than what is available after the requests. -/
structure AtMost (rate burst level updated : K) (requests : List (Request K)) : Prop where
  until_updated : Until requests updated
  level_le : level ≤ available rate burst requests updated

/-- The bucket holds what is available after the requests. -/
structure AtLeast (rate burst level updated : K) (requests : List (Request K)) : Prop where
  until_updated : Until requests updated
  le_level : available rate burst requests updated ≤ level

variable {rate burst rate' burst' level updated now : K} {requests : List (Request K)}
variable {request : Request K}

/-- What is available after a request at the time of the request. -/
theorem available_cons_self (hburst : available rate burst requests request.time -
    request.units ≤ burst) : available rate burst (request :: requests) request.time =
      available rate burst requests request.time - request.units := by
  rw [available, sub_self, zero_mul, add_zero, min_eq_left hburst]

theorem AtMost.full (hle : level ≤ burst) : AtMost rate burst level updated [] :=
  ⟨until_nil, hle⟩

theorem AtLeast.full (hle : burst ≤ level) : AtLeast rate burst level updated [] :=
  ⟨until_nil, hle⟩

variable [IsStrictOrderedRing K]

namespace AtMost

/-- A rate and a burst below the bounds refill it within what is available. -/
theorem refill (h : AtMost rate burst level updated requests) (hrate : 0 ≤ rate)
    (hle : updated ≤ now) (hrate' : rate' ≤ rate) (hburst' : burst' ≤ burst) :
    AtMost rate burst (min (level + (now - updated) * rate') burst') now requests := by
  refine ⟨h.until_updated.mono hle, ?_⟩
  rw [available_later hrate hle]
  have hflow : (now - updated) * rate' ≤ (now - updated) * rate :=
    mul_le_mul_of_nonneg_left hrate' (sub_nonneg.mpr hle)
  exact min_le_min (add_le_add h.level_le hflow) hburst'

/-- A request that takes its units out may be counted. -/
theorem take (h : AtMost rate burst level request.time requests) (hunits : 0 ≤ request.units) :
    AtMost rate burst (level - request.units) request.time (request :: requests) := by
  refine ⟨h.until_updated.cons le_rfl, ?_⟩
  have hfull : available rate burst requests request.time ≤ burst := available_le_burst
  rw [available_cons_self (by linarith)]
  exact sub_le_sub_right h.level_le _

/-- Units may be lost. -/
theorem lose (h : AtMost rate burst level updated requests) {units : K} (hunits : 0 ≤ units) :
    AtMost rate burst (level - units) updated requests :=
  ⟨h.until_updated, (sub_le_self level hunits).trans h.level_le⟩

end AtMost

namespace AtLeast

/-- A rate and a burst above the bounds refill it to what is available. -/
theorem refill (h : AtLeast rate burst level updated requests) (hrate : 0 ≤ rate)
    (hle : updated ≤ now) (hrate' : rate ≤ rate') (hburst' : burst ≤ burst') :
    AtLeast rate burst (min (level + (now - updated) * rate') burst') now requests := by
  refine ⟨h.until_updated.mono hle, ?_⟩
  rw [available_later hrate hle]
  have hflow : (now - updated) * rate ≤ (now - updated) * rate' :=
    mul_le_mul_of_nonneg_left hrate' (sub_nonneg.mpr hle)
  exact min_le_min (add_le_add h.le_level hflow) hburst'

theorem take (h : AtLeast rate burst level request.time requests) :
    AtLeast rate burst (level - request.units) request.time (request :: requests) := by
  refine ⟨h.until_updated.cons le_rfl, ?_⟩
  rw [available, sub_self, zero_mul, add_zero]
  exact (min_le_left _ _).trans (sub_le_sub_right h.le_level _)

end AtLeast

end VRCStreamer.Policing
